set_option autoImplicit false

/-!
Binary floating-point numbers of 64 bits, as words. A word is read exactly: `Binary64.value` gives
the rational number, the infinity or the undefined number that it stands for, and
`Binary64.nearest` is the word closest to a decimal, a tie going to the even significand.
Nothing is ever computed with these numbers; they are carried, compared and written.
-/

namespace Schemata

/-- What a number stands for, whatever it is stored as. -/
inductive Quantity where
  | finite (value : Rat)
  | infinite (negative : Bool)
  | undefined
deriving DecidableEq

/-- Two quantities are the same amount; the undefined one is not the same as itself. -/
def Quantity.same : Quantity → Quantity → Bool
  | .finite a, .finite b => decide (a = b)
  | .infinite a, .infinite b => a == b
  | _, _ => false

/-- One quantity lies below another; the undefined one lies nowhere. -/
def Quantity.precedes : Quantity → Quantity → Bool
  | .finite a, .finite b => decide (a < b)
  | .infinite negative, .finite _ => negative
  | .finite _, .infinite negative => !negative
  | .infinite negative, .infinite other => negative && !other
  | _, _ => false

structure Binary64 where
  bits : UInt64
deriving DecidableEq

namespace Binary64

-- Words per binade: the fraction has 52 bits.
def binade : Nat := Nat.pow 2 52

def negative (x : Binary64) : Bool := decide (Nat.pow 2 63 ≤ x.bits.toNat)

def exponentField (x : Binary64) : Nat := x.bits.toNat / binade % Nat.pow 2 11

def fraction (x : Binary64) : Nat := x.bits.toNat % binade

-- The significand with its hidden bit, which subnormal numbers lack.
def significand (x : Binary64) : Nat :=
  if x.exponentField = 0 then x.fraction else binade + x.fraction

def exponent (x : Binary64) : Int := ((max x.exponentField 1 : Nat) : Int) - 1075

def isFinite (x : Binary64) : Bool := x.exponentField != 2047

def magnitude (x : Binary64) : Rat := (x.significand : Rat) * (2 : Rat) ^ x.exponent

def value (x : Binary64) : Quantity :=
  if x.isFinite then .finite (if x.negative then -x.magnitude else x.magnitude)
  else if x.fraction = 0 then .infinite x.negative
  else .undefined

def signed (negative : Bool) (word : Nat) : Binary64 :=
  ⟨UInt64.ofNat (if negative then Nat.pow 2 63 + word else word)⟩

def infinityWord : Nat := 2047 * binade

def infinity (negative : Bool) : Binary64 := signed negative infinityWord

def notANumber : Binary64 := signed false (infinityWord + binade / 2)

-- The quotient rounded to the nearest natural number, a tie going to the even one.
def roundQuotient (num den : Nat) : Nat :=
  let floor := num / den
  let twice := 2 * (num % den)
  if twice < den then floor
  else if den < twice then floor + 1
  else if floor % 2 = 0 then floor else floor + 1

-- The floor of the base-two logarithm of a positive quotient.
def binaryExponent (num den : Nat) : Int :=
  let guess : Int := (Nat.log2 num : Int) - (Nat.log2 den : Int)
  if (num : Rat) / (den : Rat) < (2 : Rat) ^ guess then guess - 1 else guess

-- The word of the finite number or infinity nearest to a quotient. A significand that rounds up to
-- the next power of two carries into the exponent field by plain addition.
def nearestWord (num den : Nat) : Nat :=
  if num = 0 then 0
  else
    let scale : Int := max (binaryExponent num den - 52) (-1074)
    let rounded :=
      if scale < 0 then roundQuotient (num * Nat.pow 2 (-scale).toNat) den
      else roundQuotient num (den * Nat.pow 2 scale.toNat)
    min ((scale + 1074).toNat * binade + rounded) infinityWord

/-- The number nearest to `digits` times ten to the `power`, with the given sign. -/
def nearest (negative : Bool) (digits : Nat) (power : Int) : Binary64 :=
  signed negative
    (if power < 0 then nearestWord digits (Nat.pow 10 (-power).toNat)
     else nearestWord (digits * Nat.pow 10 power.toNat) 1)

end Binary64
end Schemata
